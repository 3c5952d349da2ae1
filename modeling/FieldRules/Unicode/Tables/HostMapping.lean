import FieldRules.Unicode.Packed

/-!
How the printable characters of a host name are mapped before it is looked at label by label.
-/

namespace FieldRules.Unicode.Tables

def mapped : Packed where
  keyBits := 21
  width := 64
  perRow := 5
  size := 1380
  rows := #[
    0xc400172000b9000ef00016a000b50000c800166000b200018400154000aa000184000b400041,
    0x8004d40026c001348004040025c001000003e0001bc000d8000380001ac000c00001bc00174000ba,
    0x8005e8002fa001790003fc002f00017880052c002ec0014a8005080028e001418004e80027a00139,
    0x6200030e001870009500030c0018680060c003080018200094c00302001810001cc002fe0017f,
    0x96c00320001900009640031e0018f0007740031c0018e000630003160018b0009580031400189,
    0x9a00032e001970009a40032c0019600098c003280019400098000326001930006480032200191,
    0x80068400348001a00009d40033e0019f0009c80033a0019d0009bc003380019c0006640033000198,
    0xa200035c001ae0006b400358001ac000a0c00352001a90006a00034e001a7000a000034c001a6,
    0x6e400370001b8000a480036e001b78006d00036a001b3000a2800364001b10006c00035e001af,
    0x654003ec001f60007d4003e8001f480077c003dc001de800738003b6001cd0006f400378001bc,
    0xb194004740023a80088c004640022200067800440002208007e40043c001f80006fc003ee001f7,
    0x6000048600243000908004820024100b1980047c0023e0006680047a0023d0008f0004760023b,
    0x99800562002b10001a000560002b080091c0049c00246000a300048a00245000a240048800244,
    0xa040056c002b60009ec0056a002b50009e400568002b40001c800566002b30001a800564002b2,
    0x1cc005c4002e20001b0005c2002e100098c005c0002e00001e400570002b80001dc0056e002b7,
    0xddc006ec00376800dc4006e400370000ee40068a00345000a54005c8002e40001e0005c6002e3,
    0xf340071e0038e000f30007180038c000eb40071400388000eb00070c00386000fcc006fe0037f,
    0xee0007a2003d1000ec8007a0003d0000f5c0079e003cf000f0c00756003a3000ec40074200391,
    0xf00007ac003d6000f18007aa003d5000f2c007a8003d4000f34007a6003d3000f14007a4003d2,
    0xee0007e8003f4000f0c007e4003f2000f04007e2003f1000ee8007e0003f0800f64007dc003d8,
    0xdec007fe003fd000fec007f4003fa000f0c007f2003f9000fe0007ee003f7000ed4007ea003f5,
    0x133c00980004c080122c0097c0048a80118400900004600010c00085e004100011400081e00400,
    0xb4000218a010a0003c2c01e1800f0c00158400aac0053180134400a5c004d08013080099a004c1,
    0x10c80390001c80004fc0027fa013f8004370021f8010fc00b4b40219a010cd00b49c0218e010c7,
    0x11280390c01c860011080390a01c850011040390801c830010f80390401c820010d00390201c81,
    0x18403a5801d2c0043f40397e01cbd0043400397401c9002992c0391001c8800118c0390e01c87,
    0x19c03a7401d3300077403a6401d3200019403a6201d3180018803a6001d2e00039803a5a01d2d,
    0x1d003a8201d400001c803a7e01d3f0001c003a7c01d3e00088c03a7a01d3d0001bc03a7801d3c,
    0x18803a8e01d4700740803a8c01d4600094003a8a01d4400018403a8601d430001dc03a8401d42,
    0x1ac03a9e01d4f00019c03a9a01d4d00096c03a9801d4b00096403a9401d4a00019003a9201d48,
    0x745803aaa01d5400095003aa601d530001bc03aa401d5200052c03aa201d510001b403aa001d50,
    0x1d803ab601d5b0009bc03ab401d5a00747403ab201d590001d003ab001d570001c003aac01d56,
    0x1c803ac601d630001a403ac401d62000f1803ac201d60000ec803abe01d5d00749403ab801d5c,
    0x10f403af001d78000f1803ad401d69000f0403ad001d68000ec803ace01d660001d403aca01d64,
    0x97003b3e01d9f0003c003b3c01d9e00095403b3a01d9d00018c03b3801d9c00094803b3601d9b,
    0x9a003b4c01da400099403b4601da300098403b4401da200097c03b4201da100019803b4001da0,
    0xa7c03b5601dab00761403b5401daa0009b403b5201da9000a7403b5001da80075ec03b4e01da7,
    0xa0803b6801db30009e003b6401db20009c803b6201dae0009c003b5a01dad0009c403b5801dac,
    0x1e803b7601dbb000a2c03b7401db900747003b7001db8000a2403b6e01db60006ac03b6a01db5,
    0x37c03d3c01e9e00798403d3601e9b80780403d2801e00000ee003b7e01dbf000a4003b7c01dbc,
    0x7cc003e7e01f38007c8003e5e01f28007c4003e3a01f18007c0003e1e01f08807a8403dfc01ea0,
    0x7dc003f7401fba007ec003f7201fb8007d8003ede01f68807d4403ebe01f59007d0003e9a01f48,
    0xeb803f9601fcb007dd003f9401fca000eb403f9201fc9007dc803f9001fc8000eb003f7601fbb,
    0x7de803fd401fea007f8003fd201fe8000ebc03fb601fdb007dd803fb401fda007f4003fb201fd8,
    0x7df003ff401ffa000f3003ff201ff9007de003ff001ff8007f9403fd801fec000f3403fd601feb,
    0xd0040f2020740001a4040e2020710000c0040e0020700080400402202011000f3803ff601ffb,
    0x1840412002090008848041160208b0000c004112020800001b8040fe0207f008848040f60207b,
    0x1a00412a0209500096404128020940001e004126020930001bc04124020920001940412202091,
    0x96c0420e0210700018c04204021020001cc041380209b0001c0041340209a0001ac0413202096,
    0x49c0421e0210f0001a00421c0210e0001a00421a0210d0001a0042180210c00019c042160210a,
    0x1c004236021198001b00422a021130001b004224021120001a404222021110001a40422002110,
    0x1e80425002128000f240424c021260001e804248021240001c80423a0211d0001c8042380211c,
    0x19404262021300001940425e0212f0001880425a0212c000394042560212b0001ac042540212a,
    0x1a4042720213900174004270021350001bc04268021340001b404266021330085380426402132,
    0x88440428002140000f000427e0213f000ecc0427c0213e000ecc0427a0213d000f00042780213c,
    0x1d8042c8021640001a4042c0021600001a404292021480001900428e021460001900428a02145,
    0x1a4042e0021700001b4042de0216f00018c042dc0216d0001b0042d80216c0001e0042d202169,
    0x1b4042fe0217f00018c042fc0217d0001b0042f80217c0001e0042f2021790001d8042e802174,
    0xc0049d4024ea000184049d2024d00001840499e024b60000c4048d0024600086100430602183,
    0x9f4058c802c640075f4058c602c630009ac058c402c6200b184058c002c6000b0c00585e02c00,
    0x948058e002c70000940058de02c6f0009c4058dc02c6e000944058da02c6d80b1a0058d602c67,
    0x8fc058fe02c7e0001d8058fa02c7d0001a8058f802c7c00b1d8058ea02c7500b1cc058e402c72,
    0x1af3405d3e02e9f00b58405ade02d6f00b3cc059e402cf280b3b0059da02ceb80b204059c402c80,
    0x138fc05e0602f030138d805e0402f020138a005e0202f0101380005e0002f00027e7c05de602ef3,
    0x13ae805e1002f08013a8005e0e02f07013a3005e0c02f06013a1405e0a02f0501396405e0802f04,
    0x1465805e1a02f0d01460805e1802f0c0145ac05e1602f0b01459405e1402f0a0144fc05e1202f09,
    0x14a6c05e2402f1201480005e2202f110147d405e2002f1001478005e1e02f0f0146ac05e1c02f0e,
    0x14d0405e2e02f17014ce005e2c02f16014c6805e2a02f15014c5405e2802f14014be405e2602f13,
    0x14f2005e3802f1c014ed805e3602f1b014e0805e3402f1a014da405e3202f19014d7005e3002f18,
    0x1640805e4202f210163ac05e4002f20015c7c05e3e02f1f015b5c05e3c02f1e014f8c05e3a02f1d,
    0x16d4005e4c02f260165cc05e4a02f2501649c05e4802f2401645405e4602f2301642805e4402f22,
    0x170e005e5602f2b01708805e5402f2a01703c05e5202f29016fe005e5002f28016e0005e4e02f27,
    0x177c405e6002f3001779405e5e02f2f01776c05e5c02f2e0171c405e5a02f2d0171b805e5802f2c,
    0x17bd005e6a02f350179fc05e6802f340179e805e6602f330179c805e6402f320177f805e6202f31,
    0x17d8405e7402f3a017d4005e7202f39017c4c05e7002f38017c2c05e6e02f37017bf805e6c02f36,
    0x1892c05e7e02f3f0188d805e7c02f3e01882005e7a02f3d017f0c05e7802f3c017dcc05e7602f3b,
    0x1969005e8802f4401965c05e8602f4301961c05e8402f420194d005e8202f410194bc05e8002f40,
    0x19c2005e9202f49019bc005e9002f4801979405e8e02f4701978005e8c02f460196e405e8a02f45,
    0x1aecc05e9c02f4e01ade405e9a02f4d01ad8805e9802f4c01ac8005e9602f4b019ca005e9402f4a,
    0x1b05005ea602f5301b03c05ea402f5201af6c05ea202f5101af5005ea002f5001af2c05e9e02f4f,
    0x1c8ec05eb002f5801c8d805eae02f5701c8a805eac02f5601c1ac05eaa02f5501b0d005ea802f54,
    0x1cab005eba02f5d01c96c05eb802f5c01c96405eb602f5b01c91c05eb402f5a01c8fc05eb202f59,
    0x1d46005ec402f6201d39805ec202f6101d37005ec002f6001ce2405ebe02f5f01ce1005ebc02f5e,
    0x1d64805ece02f6701d62c05ecc02f6601d4c005eca02f6501d4a005ec802f6401d47c05ec602f63,
    0x1dbb805ed802f6c01dafc05ed602f6b01dab805ed402f6a01d9f405ed202f6901d9d805ed002f68,
    0x1e6e005ee202f7101e4e805ee002f7001dfcc05ede02f6f01df8805edc02f6e01df6c05eda02f6d,
    0x1f1cc05eec02f7601ebe405eea02f7501eb2c05ee802f7401e9d005ee602f7301e6f805ee402f72,
    0x1fef405ef602f7b01fe2805ef402f7a01fd4405ef202f7901fcd805ef002f7801f3e005eee02f77,
    0x201fc05f0002f800200cc05efe02f7f02004805efc02f7e02003005efa02f7d02000405ef802f7c,
    0x207f005f0a02f850207cc05f0802f840207a805f0602f8302078c05f0402f8202022405f0202f81,
    0x209c805f1402f8a0209b805f1202f8902087c05f1002f8802086c05f0e02f8702083005f0c02f86,
    0x2213005f1e02f8f02210005f1c02f8e0219ac05f1a02f8d02193405f1802f8c0209e005f1602f8b,
    0x2280005f2802f9402274805f2602f9302262c05f2402f920225f805f2202f9102218c05f2002f90,
    0x2327405f3202f990231e005f3002f9802315405f2e02f9702311805f2c02f960230dc05f2a02f95,
    0x23b2805f3c02f9e023aac05f3a02f9d0236cc05f3802f9c0235c005f3602f9b02359005f3402f9a,
    0x2452405f4602fa302424405f4402fa2023ed405f4202fa1023ec005f4002fa0023e6c05f3e02f9f,
    0x2560005f5002fa80255dc05f4e02fa702474405f4c02fa602473005f4a02fa502471805f4802fa4,
    0x25d4405f5a02fad025ba005f5802fac025ae405f5602fab025ad805f5402faa02587005f5202fa9,
    0x25fb405f6402fb2025f2c05f6202fb1025da405f6002fb0025d8805f5e02faf025d7805f5c02fae,
    0x2637c05f6e02fb702636c05f6c02fb60262a005f6a02fb502600405f6802fb4025fcc05f6602fb3,
    0x26b6005f7802fbc026aa005f7602fbb0266b005f7402fba02666405f7202fb902665805f7002fb8,
    0x26cf005f8202fc1026cc805f8002fc0026cbc05f7e02fbf026c9405f7c02fbe026b7c05f7a02fbd,
    0x27a9405f8c02fc60279fc05f8a02fc50279d405f8802fc402739405f8602fc3026d6805f8402fc2,
    0x27be405f9602fcb027b4405f9402fca027b3405f9202fc9027b0c05f9002fc8027aec05f8e02fc7,
    0x27cec05fa002fd0027c8005f9e02fcf027c4c05f9c02fce027c3805f9a02fcd027bf405f9802fcc,
    0x27e8005faa02fd5027e7005fa802fd4027e3405fa602fd3027d4805fa402fd2027d2805fa202fd1,
    0x44000626403131014d100607403039014d04060700303800c0480606c030360000b80600403002,
    0x46c00627e0313a00440c06272031370046b00626c0313500440806268031340046a80626603133,
    0x4584062c60314f0044240629c03145004484062880314400441806286031410044680628003140,
    0x474c062d60316b004738062d40316a004730062d20316900471c062d003167004450062cc03165,
    0x477c062e003170004774062de0316f004470062dc0316e004764062da0316d00475c062d80316c,
    0x44a4062ee0317700449c062ec03176004488062ea03174004480062e603173004474062e403171,
    0x451c0630003180004500062fe0317f0044d8062fc0317e0044c8062fa0317d0044ac062f803178,
    0x46200631203189004610063100318700455c0630c031840047c406306031820045300630203181,
    0x1380006324031920046840631c0318e0046780631a0318d004650063180318c004644063160318a,
    0x138b40632e031970138280632c03196015b6c0632a031950138240632803194013a300632603193,
    0x13804063380319c013864063360319b013964063340319a01d4c8063320319901382c0633003198,
    0x179f00648a0324501553c0648803244013ae80633e0319f015cc00633c0319e0164a40633a0319d,
    0x4414064ca03263004408064c403261004400064c00326001ee3c0648e0324701961c0648c03246,
    0x2c260064de0326f02b000064dc0326e004438064da0326900442c064d003267004424064cc03266,
    0x302b0064e80327402f050064e60327302e720064e40327202ddf0064e20327102cb90064e003270,
    0x34300064f2032790339d0064f0032780330a0064ee03277031e40064ec03276031510064ea03275,
    0x13a3006502032810138000650003280031ac0064fc0327e035560064f60327b034c30064f40327a,
    0x1380c0650c032860145b40650a03285013a500650803284015b6c06506032830138240650403282,
    0x1c1ac065160328b019c20065140328a014d04065120328901397406510032880145ac0650e03287,
    0x197940652003290015c7c0651e0328f0247440651c0328e019ca00651a0328d01b0d0065180328c,
    0x1c9e40652a03295015034065280329401e4f80652603293019c24065240329201a0a80652203291,
    0x1d4dc065340329a01e7600653203299014ad0065300329801e5740652e032970232840652c03296,
    0x1b3a00653e0329f014dc00653c0329e0144a80653a0329d0241a4065380329c0165cc065360329b,
    0x1382806548032a401ad8c06546032a301466406544032a2013c4406542032a102601406540032a0,
    0x14cec06552032a9014fcc06550032a80177980654e032a701382c0654c032a60138b40654a032a5,
    0x2331c0655c032ae013c040655a032ad01db8c06558032ac016d9806556032ab016e5c06554032aa,
    0xc298065a4032d200c290065a2032d100c288065a0032d001647006560032b0014d500655e032af,
    0xc2c4065b0032d800c2bc065ae032d700c2b4065ac032d600c2a8065aa032d400c2a0065a6032d3,
    0xc2ec065ba032dd00c2e4065b8032dc00c2dc065b6032db00c2d4065b4032da00c2cc065b2032d9,
    0xc318065c4032e200c310065c2032e100c304065c0032e000c2fc065be032df00c2f4065bc032de,
    0xc360065d8032ec00c354065d6032eb00c348065d4032ea00c328065d2032e400c320065c6032e3,
    0xc3a0065f4032f500c398065e8032f400c390065e6032f300c378065e4032ee00c36c065da032ed,
    0x113014d3a0a69d00112814d380a69c829a0414d340a68082990414cd80a64000c3bc065fc032fb,
    0x75e414efa0a77d829de814ef60a779029dbc14ee00a770829ccc14edc0a732829c8c14e5c0a722,
    0x829e5c14f500a796829e4414f240a79000099414f1a0a78d029e3014f160a78b829dfc14f0c0a77e,
    0x9a814f5c0a7ae0009b014f5a0a7ad00098414f580a7ac00097014f560a7ab00099814f540a7aa,
    0x829ed414f840a7b402ad4c14f660a7b3000a7414f640a7b2000a1c14f620a7b1000a7814f600a7b0,
    0x29f4414fa00a7d0829f2014f920a7c700763814f8c0a7c6000a0814f8a0a7c5029e5014f880a7c4,
    0x29fd814fea0a7f50001c414fe80a7f400019814fe60a7f300018c14fe40a7f2829f5c14fb00a7d6,
    0x9ac156bc0ab5e02acdc156ba0ab5d029c9c156b80ab5c00054c14ff20a7f900049c14ff00a7f8,
    0x17401f6420fb210017881f6400fb20004e801577e0ab70000a34156d20ab6902ad48156be0ab5f,
    0x19c41f6a00fb500017a81f6500fb280017a01f64e0fb2700176c1f64c0fb2400174c1f6460fb22,
    0x19ec1f6aa0fb550019ec1f6a80fb540019ec1f6a60fb530019ec1f6a40fb520019c41f6a20fb51,
    0x1a001f6b40fb5a0019f81f6b20fb590019f81f6b00fb580019f81f6ae0fb570019f81f6ac0fb56,
    0x19e81f6be0fb5f0019e81f6bc0fb5e001a001f6ba0fb5d001a001f6b80fb5c001a001f6b60fb5b,
    0x19fc1f6c80fb640019fc1f6c60fb630019fc1f6c40fb620019e81f6c20fb610019e81f6c00fb60,
    0x19e41f6d20fb690019e41f6d00fb680019e41f6ce0fb670019e41f6cc0fb660019fc1f6ca0fb65,
    0x1a981f6dc0fb6e001a901f6da0fb6d001a901f6d80fb6c001a901f6d60fb6b001a901f6d40fb6a,
    0x1a101f6e60fb73001a101f6e40fb72001a981f6e20fb71001a981f6e00fb70001a981f6de0fb6f,
    0x1a0c1f6f00fb78001a0c1f6ee0fb77001a0c1f6ec0fb76001a101f6ea0fb75001a101f6e80fb74,
    0x1a181f6fc0fb7d001a181f6f80fb7c001a181f6f60fb7b001a181f6f40fb7a001a0c1f6f20fb79,
    0x1a341f7060fb83001a341f7040fb82001a1c1f7020fb81001a1c1f7000fb80001a1c1f6fe0fb7f,
    0x1a201f7100fb88001a381f70e0fb87001a381f70c0fb86001a301f70a0fb85001a301f7080fb84,
    0x1a441f71a0fb8d001a441f7180fb8c001a601f7160fb8b001a601f7140fb8a001a201f7120fb89,
    0x1abc1f7240fb92001aa41f7220fb91001aa41f7200fb90001aa41f71e0fb8f001aa41f71c0fb8e,
    0x1acc1f72e0fb97001acc1f72c0fb96001abc1f72a0fb95001abc1f7280fb94001abc1f7260fb93,
    0x1ac41f7380fb9c001ac41f7360fb9b001ac41f7340fb9a001acc1f7320fb99001acc1f7300fb98,
    0x1aec1f7440fba2001aec1f7420fba1001ae81f7400fb9f001ae81f73c0fb9e001ac41f73a0fb9d,
    0x1b041f7500fba8001b041f74e0fba7001b001f74c0fba5001b001f7480fba4001aec1f7460fba3,
    0x1af81f75a0fbad001af81f7580fbac001af81f7560fbab001af81f7540fbaa001b041f7520fba9,
    0x1ab41f7a80fbd4001ab41f7a60fbd3001b4c1f7620fbb1001b481f7600fbaf001b481f75c0fbae,
    0x1b181f7b20fbd9001b1c1f7b00fbd8001b1c1f7ae0fbd7001ab41f7ac0fbd6001ab41f7aa0fbd5,
    0x1b2c1f7be0fbdf001b2c1f7bc0fbde001b201f7b80fbdc001b201f7b60fbdb001b181f7b40fbda,
    0x1b401f7c80fbe4001b241f7c60fbe3001b241f7c40fbe2001b141f7c20fbe1001b141f7c00fbe0,
    0x19241f7d20fbe90019241f7d00fbe8001b401f7ce0fbe7001b401f7cc0fbe6001b401f7ca0fbe5,
    0xc0041fc220fe11001b301f7fe0fbff001b301f7fc0fbfe001b301f7fa0fbfd001b301f7f80fbfc,
    0xc0401fc780fe3b00c0501fc740fe3900804c1fc640fe320080501fc620fe3100c0581fc300fe17,
    0x80501fcb00fe5800c0041fca20fe5100c0301fc880fe4100c0201fc800fe3f00c0281fc7c0fe3d,
    0x188c1fd0a0fe840018881fd060fe820018841fd020fe800000b41fcc60fe6300c0501fcbc0fe5d,
    0x18981fd1a0fe8c0018981fd160fe8b0018981fd140fe8a0018941fd120fe880018901fd0e0fe86,
    0x18a41fd2a0fe940018a01fd260fe920018a01fd220fe910018a01fd200fe9000189c1fd1e0fe8e,
    0x18ac1fd360fe9b0018ac1fd340fe9a0018a81fd320fe980018a81fd2e0fe970018a81fd2c0fe96,
    0x18b41fd440fea20018b01fd420fea00018b01fd3e0fe9f0018b01fd3c0fe9e0018ac1fd3a0fe9c,
    0x18b81fd520fea80018b81fd4e0fea70018b81fd4c0fea60018b41fd4a0fea40018b41fd460fea3,
    0x18cc1fd640feb20018c81fd620feb00018c41fd5e0feae0018c01fd5a0feac0018bc1fd560feaa,
    0x18d01fd720feb80018d01fd6e0feb70018d01fd6c0feb60018cc1fd6a0feb40018cc1fd660feb3,
    0x18d81fd7e0febf0018d81fd7c0febe0018d41fd7a0febc0018d41fd760febb0018d41fd740feba,
    0x18e01fd8c0fec60018dc1fd8a0fec40018dc1fd860fec30018dc1fd840fec20018d81fd820fec0,
    0x18e41fd9a0fecc0018e41fd960fecb0018e41fd940feca0018e01fd920fec80018e01fd8e0fec7,
    0x19041fda40fed20019041fda20fed10018e81fda00fed00018e81fd9e0fecf0018e81fd9c0fece,
    0x19081fdb20fed80019081fdae0fed70019081fdac0fed60019041fdaa0fed40019041fda60fed3,
    0x19101fdbe0fedf0019101fdbc0fede00190c1fdba0fedc00190c1fdb60fedb00190c1fdb40feda,
    0x19181fdcc0fee60019141fdca0fee40019141fdc60fee30019141fdc40fee20019101fdc20fee0,
    0x191c1fdda0feec00191c1fdd60feeb00191c1fdd40feea0019181fdd20fee80019181fdce0fee7,
    0x19281fde80fef40019281fde60fef30019281fde40fef20019241fde20fef00019201fdde0feee,
    0xa6141fec00ff5f0001841feb40ff410001841fe740ff210000c01fe320ff100000b41fe1c0ff0d,
    0xc3c81fecc0ff6600c3ec1feca0ff6500c0041fec80ff6400c0301fec60ff620000b81fec20ff61,
    0xc2a41fed60ff6b00c29c1fed40ff6a00c2941fed20ff6900c28c1fed00ff6800c2841fece0ff67,
    0xc3f01fee00ff7000c30c1fede0ff6f00c39c1fedc0ff6e00c3941feda0ff6d00c38c1fed80ff6c,
    0xc2a81feec0ff7500c2a01fee80ff7400c2981fee60ff7300c2901fee40ff7200c2881fee20ff71,
    0xc2d41fef60ff7b00c2cc1fef40ff7a00c2c41fef20ff7900c2bc1fef00ff7800c2b41feee0ff77,
    0xc2fc1ff000ff8000c2f41fefe0ff7f00c2ec1fefc0ff7e00c2e41fefa0ff7d00c2dc1fef80ff7c,
    0xc3281ff140ff8500c3201ff080ff8400c3181ff060ff8300c3101ff040ff8200c3041ff020ff81,
    0xc3781ff260ff8f00c36c1ff1c0ff8e00c3601ff1a0ff8d00c3541ff180ff8c00c3481ff160ff8b,
    0xc3cc1ff3a0ff9d00c3bc1ff380ff9c00c3a01ff360ff9600c3981ff2a0ff9500c3901ff280ff94,
    0x46b01ff4c0ffa50044081ff480ffa40046a81ff460ffa30044001ff440ffa100c2641ff3e0ff9e,
    0x44841ff680ffb40044181ff660ffb10044681ff600ffb00046c01ff5e0ffaa00440c1ff520ffa7,
    0x45cc1ffb80ffda0045b41ffae0ffd200459c1ff9e0ffca0045841ff8e0ffc20044241ff7c0ffb5,
    0x82a41ffcc0ffe60002941ffca0ffe50002981ffc80ffe40002b01ffc40ffe20002881ffc20ffe0,
    0x410a02084e1040000972c1ffdc0ffee0096801ffda0ffed0086401ffd80ffe90094081ffd00ffe8,
    0x416ec20b2a105940416cc20b241058c04168c20b141057c04165c20af410570041360209a6104b0,
    0xa8c20f0e1078700094c20f0a10785000a6420f081078400039820f0610783000b4020f0410781,
    0x764420f1a1078d00095820f181078b000a9020f141078a000a9420f121078902ad9820f1010788,
    0x98820f241079200099020f2210791000aa420f201079000097820f1e1078f00096020f1c1078e,
    0x99c20f2e10797000a7020f2c1079600049c20f2a10795000a6c20f281079400098020f2610793,
    0x29e3820f3a1079d077c1020f381079c0009b020f361079b000aa820f3410799000a1020f3010798,
    0x3e020f44107a2077c1820f42107a1000a3820f40107a0077c1420f3e1079f0009b820f3c1079e,
    0x9f420f52107a8077c2020f4e107a70009e820f4c107a60001c420f4a107a50009d820f48107a3,
    0xa9c20f5c107ae02ad9c20f5a107ad000a9820f58107ac000aa020f56107ab000a0020f54107aa,
    0xa6020f6a107b5000a8420f68107b3000a3c20f64107b200b1c420f60107b0000a2020f5e107af,
    0x463002317e118a00433002196410c80077c7820f74107ba077c2820f72107b900070020f70107b6,
    0x1843a8a81d44e0001843a89a1d4340001843a8661d41a0001843a8321d40005b9802dcbe16e40,
    0x1903a93e1d49f8001843a93c1d49c0001843a9361d4820001843a9021d4680001a43a8ce1d456,
    0x1843a9721d4b60001cc3a96a1d4ae0001b83a9581d4a90001a83a94c1d4a500019c3a9441d4a2,
    0x1843aa061d4ea0001843a9d21d4d00001c03a99e1d4c50001a43a9861d4be8001983a97a1d4bb,
    0x1843aa6e1d51e0001cc3aa381d5160001a83aa281d50d0001903aa141d5070001843aa0a1d504,
    0x1cc3aaa01d54a0001bc3aa8c1d5460001a43aa881d5400001903aa7c1d53b0001843aa721d538,
    0x1843aba61d5ba0001843ab721d5a00001843ab3e1d5860001843ab0a1d56c0001843aad61d552,
    0x1843acaa1d63c0001843ac761d6220001843ac421d6080001843ac0e1d5ee0001843abda1d5d4,
    0x8dc3ad4a1d6a50004c43ad481d6a40001843ad461d68a0001843ad121d6700001843acde1d656,
    0xec43ada41d6c200881c3ad821d6c1000f0c3ad801d6ba000ee03ad721d6b9000ec43ad701d6a8,
    0xee03adba1d6dd000ed43adb81d6dc0088083adb61d6db000f0c3adb41d6d4000f0c3ada61d6d3,
    0xec43ade41d6e2000f003adc21d6e1000f043adc01d6e0000f183adbe1d6df000ee83adbc1d6de,
    0xf0c3ae1a1d70d000ec43ae181d6fc00881c3adf61d6fb000f0c3adf41d6f4000ee03ade61d6f3,
    0xee83ae301d718000ee03ae2e1d717000ed43ae2c1d7160088083ae2a1d715000f0c3ae281d70e,
    0xee03ae5a1d72d000ec43ae581d71c000f003ae361d71b000f043ae341d71a000f183ae321d719,
    0xf0c3ae9c1d748000f0c3ae8e1d747000ec43ae8c1d73600881c3ae6a1d735000f0c3ae681d72e,
    0xf183aea61d753000ee83aea41d752000ee03aea21d751000ed43aea01d7500088083ae9e1d74f,
    0xf0c3aedc1d768000ee03aece1d767000ec43aecc1d756000f003aeaa1d755000f043aea81d754,
    0x88083af121d789000f0c3af101d782000f0c3af021d781000ec43af001d77000881c3aede1d76f,
    0xf043af1c1d78e000f183af1a1d78d000ee83af181d78c000ee03af161d78b000ed43af141d78a,
    0x881c3af521d7a9000f0c3af501d7a2000ee03af421d7a1000ec43af401d790000f003af1e1d78f,
    0xed43af881d7c40088083af861d7c3000f0c3af841d7bc000f0c3af761d7bb000ec43af741d7aa,
    0xf003af921d7c9000f043af901d7c8000f183af8e1d7c7000ee83af8c1d7c6000ee03af8a1d7c5,
    0xc03afd61d7e20000c03afc21d7d80000c03afae1d7ce000f743af961d7cb000f743af941d7ca,
    0x18b03dc041ee0200189c3dc021ee0007a4883d2421e9000000c03affe1d7f60000c03afea1d7ec,
    0x18dc3dc101ee080018b43dc0e1ee070018c83dc0c1ee060019203dc0a1ee050018bc3dc061ee03,
    0x19043dc201ee100018e43dc1e1ee0f0018cc3dc1c1ee0e00190c3dc1a1ee0a0019283dc121ee09,
    0x18a83dc2c1ee150018d03dc281ee140018c43dc261ee130019083dc241ee120018d43dc221ee11,
    0x18e83dc361ee1b0018e03dc341ee1a0018d83dc321ee190018c03dc301ee180018b83dc2e1ee17,
    0x18a03dc421ee210019bc3dc3e1ee1f001a843dc3c1ee1e001ae83dc3a1ee1d0019b83dc381ee1c,
    0x190c3dc5a1ee2a0019283dc521ee290018b43dc4e1ee2700191c3dc481ee240018b03dc441ee22,
    0x19083dc641ee320018d43dc621ee310019043dc601ee300018e43dc5e1ee2f0018cc3dc5c1ee2e,
    0x18e83dc761ee3b0018d83dc721ee390018b83dc6e1ee370018a83dc6c1ee350018d03dc681ee34,
    0x18cc3dc9c1ee4e8019103dc9a1ee4b0019283dc921ee490018b43dc8e1ee470018b03dc841ee42,
    0x18b83dcae1ee570018d03dca81ee540019083dca41ee520018d43dca21ee510018e43dc9e1ee4f,
    0x18a03dcc21ee610019bc3dcbe1ee5f001ae83dcba1ee5d0018e83dcb61ee5b0018d83dcb21ee59,
    0x19283dcd21ee690018dc3dcd01ee680018b43dcce1ee6700191c3dcc81ee640018b03dcc41ee62,
    0x19043dce01ee700018e43dcde1ee6f0018cc3dcdc1ee6e0019183dcda1ee6d80190c3dcd81ee6a,
    0x18b83dcee1ee770018a83dcec1ee750018d03dce81ee740019083dce41ee720018d43dce21ee71,
    0x1a843dcfc1ee7e0019b83dcf81ee7c0018e83dcf61ee7b0018e03dcf41ee7a0018d83dcf21ee79,
    0x18c83dd0c1ee8600191c3dd0a1ee840018bc3dd061ee830018b03dd041ee8200189c3dd021ee80,
    0x18cc3dd1c1ee8e0019103dd1a1ee8b0019283dd121ee890018dc3dd101ee880018b43dd0e1ee87,
    0x18c43dd261ee930019083dd241ee920018d43dd221ee910019043dd201ee900018e43dd1e1ee8f,
    0x18d83dd321ee990018c03dd301ee980018b83dd2e1ee970018a83dd2c1ee950018d03dd281ee94,
    0x18bc3dd461eea30018b03dd441eea20018a03dd421eea10018e83dd361ee9b0018e03dd341ee9a,
    0x19283dd521eea90018dc3dd501eea80018b43dd4e1eea70018c83dd4c1eea60019203dd4a1eea5,
    0x18d43dd621eeb10019043dd601eeb00018e43dd5e1eeaf0018cc3dd5c1eeae0019103dd5a1eeab,
    0x18b83dd6e1eeb70018a83dd6c1eeb50018d03dd681eeb40018c43dd661eeb30019083dd641eeb2,
    0x18c3e2561f12b0018e83dd761eebb0018e03dd741eeba0018d83dd721eeb90018c03dd701eeb8,
    0x16d5c3e4221f21101892c3e4201f21000c2d43e4041f2020001843e2921f1300001c83e2581f12c,
    0x2278c3e42c1f2160164683e42a1f215013a303e4281f21400c31c3e4261f213014f303e4241f212,
    0x196643e4361f21b01c4843e4341f21a0198803e4321f219013a903e4301f2180164a43e42e1f217,
    0x148743e4401f2200196c03e43e1f21f0146343e43c1f21e017e303e43a1f21d0149343e4381f21c,
    0x150e43e44a1f2250163c03e4481f2240232a43e4461f22301d47c3e4441f22201f5083e4421f221,
    0x138243e4541f22a0138003e4521f229018d543e4501f228018a543e44e1f22701bc503e44c1f226,
    0x18c1c3e45e1f22f014fcc3e45c1f22e0138b43e45a1f22d0177983e4581f22c0241283e4561f22b,
    0x150203e4681f23401e9e83e4661f23301e6043e4641f23201894c3e4621f2310235c03e4601f230,
    0x149c83e4721f23901d4cc3e4701f238019c203e46e1f237019c243e46c1f23601ba003e46a1f235,
    0xc03f7f21fbf0014fbc3e4a21f251017e5c3e4a01f2500245343e4761f23b0156d83e4741f23a]

/-- Characters that are mapped to two or more characters. -/
def spelled : Packed where
  keyBits := 21
  width := 147
  perRow := 2
  size := 1061
  rows := #[
    0xc804088000310005e80000000000000000001a00811000062000bc,
    0x60e000690009800000000000000000001a00811000066000be,
    0xd400069000998000000000000000000000001a8000d200132,
    0x16e0006c000a00000000000000000000000002dc000d80013f,
    0x2fc00064000e20000000000000000000000001b80057800149,
    0x2fc00064000e30000000000000000000000005f8000c8001c5,
    0xd40006c000e40000000000000000000000001a8000d8001c7,
    0xd40006e000e50000000000000000000000001a8000d8001c9,
    0xd40006e000e60000000000000000000000001a8000dc001cb,
    0xf400064000f90000000000000000000000001e8000c8001f1,
    0x60200308001a20000000000000000000000001e8000c8001f3,
    0xce8006270033a80000000000000000000000160800aca00587,
    0xce8006c70033b8000000000000000000000019d000c9000676,
    0x127800915004ac0000000000000000000000019d000c9400678,
    0x127800917004ad0000000000000000000000024f00122c00959,
    0x127800921004ae0000000000000000000000024f0012380095b,
    0x12780092b004af0000000000000000000000024f0012440095d,
    0x1378009a1004ee0000000000000000000000024f00125e0095f,
    0x1378009af004ef8000000000000000000000026f001344009dd,
    0x147800a380051b0000000000000000000000028f00146400a33,
    0x147800a170052d0000000000000000000000028f00142c00a59,
    0x147800a2b0052f0000000000000000000000028f00143800a5b,
    0x167800b22005ae800000000000000000000002cf00164200b5c,
    0x1d6400ecd007598000000000000000000000038c801c9a00e33,
    0x1d4200eab0076e800000000000000000000003a6401d5600edc,
    0x1f6e00f4c007a6800000000000000000000003edc01e8400f43,
    0x1f6e00f56007ab800000000000000000000003edc01ea200f52,
    0x1f6a00f40007b4800000000000000000000003edc01eb600f5c,
    0x1ee800f71007ba800000000000000000000003dc801ee200f73,
    0x3e0001ee200fb2007bb800000000000000000000003e0001f6400f76,
    0x3e0001ee200fb3007bc800000000000000000000003e0001f6600f78,
    0x1f6e00f92007c9800000000000000000000003e0001ee200f81,
    0x1f6e00fa1007d1000000000000000000000003edc01f3800f9d,
    0x1f6e00fab007d6000000000000000000000003edc01f4c00fa7,
    0x57c0006100f4d000000000000000000000003ed401f2000fb9,
    0x77201f0100fc0800000000000000000000000ee403e0001f80,
    0x77201f0300fc1800000000000000000000000ee403e0401f82,
    0x77201f0500fc2800000000000000000000000ee403e0801f84,
    0x77201f0700fc3800000000000000000000000ee403e0c01f86,
    0x77201f0100fc4800000000000000000000000ee403e0001f88,
    0x77201f0300fc5800000000000000000000000ee403e0401f8a,
    0x77201f0500fc6800000000000000000000000ee403e0801f8c,
    0x77201f0700fc7800000000000000000000000ee403e0c01f8e,
    0x77201f2100fc8800000000000000000000000ee403e4001f90,
    0x77201f2300fc9800000000000000000000000ee403e4401f92,
    0x77201f2500fca800000000000000000000000ee403e4801f94,
    0x77201f2700fcb800000000000000000000000ee403e4c01f96,
    0x77201f2100fcc800000000000000000000000ee403e4001f98,
    0x77201f2300fcd800000000000000000000000ee403e4401f9a,
    0x77201f2500fce800000000000000000000000ee403e4801f9c,
    0x77201f2700fcf800000000000000000000000ee403e4c01f9e,
    0x77201f6100fd0800000000000000000000000ee403ec001fa0,
    0x77201f6300fd1800000000000000000000000ee403ec401fa2,
    0x77201f6500fd2800000000000000000000000ee403ec801fa4,
    0x77201f6700fd3800000000000000000000000ee403ecc01fa6,
    0x77201f6100fd4800000000000000000000000ee403ec001fa8,
    0x77201f6300fd5800000000000000000000000ee403ec401faa,
    0x77201f6500fd6800000000000000000000000ee403ec801fac,
    0x77201f6700fd7800000000000000000000000ee403ecc01fae,
    0x772003b100fd9800000000000000000000000ee403ee001fb2,
    0x77201fb600fdb800000000000000000000000ee40075801fb4,
    0x77201f7400fe1000000000000000000000000ee40076201fbc,
    0x772003ae00fe2000000000000000000000000ee40076e01fc3,
    0x772003b700fe6000000000000000000000000ee403f8c01fc7,
    0x772003c900ff9800000000000000000000000ee403ef801ff2,
    0x77201ff600ffb800000000000000000000000ee40079c01ff4,
    0x40640203201019800000000000000000000000ee40079201ffc,
    0x406a020350101b0000000000000000010190080c80406402034,
    0x10190080c804064020320102b80000000000000000101a8080d40406a02037,
    0xc6000b0010818000000000000000000000001cc000e4020a8,
    0xde0006e0108b0000000000000000000000001980016002109,
    0x1b0000ca00074010908000000000000000000000001b4000e602120,
    0x1e0000c2000660109d8000000000000000000000001b4000e802122,
    0xe40408800031010a880000000000000000001b8081100006202150,
    0xcc0408800031010a98000000000000030000188081100006202152,
    0xd40408800031010aa8000000000000000000198081100006402154,
    0xd40408800033010ab80000000000000000001a8081100006402156,
    0xd80408800031010ac80000000000000000001a8081100006802158,
    0xe00408800031010ad80000000000000000001b0081100006a0215a,
    0xe00408800035010ae80000000000000000001c008110000660215c,
    0x408800031010af80000000000000000001c0081100006e0215e,
    0x1a4000d200069010b10000000000000000000000001a4000d202161,
    0xd200076010b28000000000000000000000001d8000d202163,
    0x348001a4000d200076010b38000000000000000000348001a4000ec02166,
    0xd200078010b50000000000000000000000001e0000d202168,
    0xd200069010b88000000000000000000348001a4000f00216b,
    0xec00069010b98000000000000000000348001a4000d202172,
    0x1a4000d200076010bb0000000000000000000000001a4000ec02175,
    0xf000069010bc0000000000000069000348001a4000ec02177,
    0x1a4000d200078010bd8000000000000000000000001a4000f00217a,
    0x44560222b011160000000000000000000198081100006002189,
    0x445c0222e011178000000000000000011158088ac044560222d,
    0x6000031012348000000000000000011170088b80445c02230,
    0x6400031012358000000000000000000000000c4000620246a,
    0x6800031012368000000000000000000000000cc000620246c,
    0x6c00031012378000000000000000000000000d4000620246e,
    0x7000031012388000000000000000000000000dc0006202470,
    0x6000032012398000000000000000000000000e40006202472,
    0x67002add0156e000000000000222b011158088ac0445602a0c,
    0x6190030b30187f80000000000000000000000c228061100309f,
    0x6200032019288000000000000000000328001d0000e003250,
    0x6600032019298000000000000000000000000c80006403252,
    0x6a000320192a8000000000000000000000000d00006403254,
    0x6e000320192b8000000000000000000000000d80006403256,
    0x72000320192c8000000000000000000000000e00006403258,
    0x62000330192d8000000000000000000000000c0000660325a,
    0x66000330192e8000000000000000000000000c8000660325c,
    0x6a000330192f8000000000000000000000000d0000660325e,
    0x18eb00c8fc0193e80000000000000000000002b380198700327c,
    0x6e00033019590000000000000000000000000d800066032b1,
    0x72000330195a0000000000000000000000000e000066032b3,
    0x62000340195b0000000000000000000000000c000068032b5,
    0x66000340195c0000000000000000000000000c800068032b7,
    0x6a000340195d0000000000000000000000000d000068032b9,
    0x6e000340195e0000000000000000000000000d800068032bb,
    0x72000340195f0000000000000000000000000e000068032bd,
    0xce1000031019600000000000000000000000000c00006a032bf,
    0xce100003301961000000000000000000000019c2000064032c1,
    0xce100003501962000000000000000000000019c2000068032c3,
    0xce100003701963000000000000000000000019c200006c032c5,
    0xce100003901964000000000000000000000019c2000070032c7,
    0x19c200006200031019650000000000000000033840000c000062032c9,
    0xce00068019660000000000000000033840000c800062032cb,
    0xec00065019670000000000000000000338001c8000ca032cd,
    0xa91804ee40197f8000000000000000000320001d0000d8032cf,
    0x185080c354061d6030a20198080000000000030c80187e00c3440614403300,
    0xc3ac061f8030a20198180000000000030a20186d00c3cc0614403302,
    0xc304061e6030a40198280000000000030b00187980c32c0614803304,
    0x30c90187e00c2bc06172030a80198380000000000000000187980c2a40614c03306,
    0xc2e4061e6030aa0198480000000000030fc0185580c3f00615003308,
    0xc3a806148030ab0198580000000000000000187000c3f0061540330a,
    0x187e00c3a8061da030ab0198680000000000030c80186180c3a4061560330c,
    0xc378061e6030ac0198780000000000000000187980c3b4061580330e,
    0xc3f006196030ae0198880000000000000000000000c2b00615c03310,
    0x187e00c300061d6030ae0198980000000000030fc0187500c3940615a03312,
    0x30e00187480c2c0061da030ad0198a80000000000000000000000c3b40615a03314,
    0x30c80186180c3bc061da030ad0198b80c3ac06190030fc0187080c3b40615a03316,
    0x30f30186400c380061d2030b00198c80000000000000000187000c3a40616003318,
    0x186680c3f0061da030af0198d800000061da030a40185e00c3ac0615e0331a,
    0xc328061d6030b30198e80000000000000000185c80c3f0061620331c,
    0x187580c2bc06148030b50198f80000000000000000186e80c3f0061660331e,
    0x185800c3cc061d4030b701990800000061c0030fc0186080c3cc0616a03320,
    0xc320061e6030bb0199180000000000000000186080c3cc0617603322,
    0x616e030c70199280000000000000000185c80c3f00618003324,
    0x61e6030c80199380000000000000000000000c3ac0619203326,
    0xc32006186030ce0199480000000000000000000000c3380619403328,
    0x30c80187980c2ec061f8030d10199580000000000000000186200c2900619e0332a,
    0x187580c3b0061f8030d00199680000000000000000186200c3f0061a20332c,
    0xc3ac0615e030d401997800000061d6030c80185c80c288061a80332e,
    0x61d6030d30199880000000000000000000000c2cc061a803330,
    0x186400c3f006146030d50199980000006192030c30187480c284061aa03332,
    0xc3cc061d2030d50199a800000061d6030a70185b80c30c061ac03334,
    0x617a030da0199b800000061d6030fc0185f80c2bc061b003336,
    0xc310061d6030d80199c80000000000000000186900c32c061b403338,
    0xc2e0061f8030da0199d80000000000000000185c80c3cc061b40333a,
    0x186400c3cc06148030dd0199e80000000000000000185f80c3f0061b20333c,
    0x61e6030db0199f80000000000000000186400c3ac061b80333e,
    0xc3ac061f8030db019a080000000000000000186480c3cc061ba03340,
    0x187680c2bc06148030de019a180000000000000000187980c3f0061b603342,
    0xc33c06186030de019a280000000000000000187580c290061bc03344,
    0x30f30187380c2dc061e6030de019a380000000000000000185780c3ac061bc03346,
    0x61d4030df019a480000000000030f30187680c2bc061be03348,
    0x6158030e1019a5800000061d6030fc0186800c3a8061be0334a,
    0x187580c320061f8030e1019a680000000000030f30186400c2b0061c20334c,
    0xc3ac061f8030e4019a780000000000000000186480c3f0061c80334e,
    0x187580c32006186030ea019a880000000000000000187980c288061cc03350,
    0xc3f0061a8030eb019a980000000000000000000000c3a4061d403352,
    0x61c0030ec019aa80000000000030eb0186b00c3f0061d603354,
    0xc32006186030ef019ab800000061e6030b20186400c3cc061d803356,
    0xe17200031019ac80000000000000000000001c2e40006003358,
    0xe17200033019ad80000000000000000000001c2e4000640335a,
    0xe17200035019ae80000000000000000000001c2e4000680335c,
    0xe17200037019af80000000000000000000001c2e40006c0335e,
    0xe17200039019b080000000000000000000001c2e40007003360,
    0x1c2e40006200031019b180000000000000000385c8000c00006203362,
    0x1c2e40006600031019b280000000000000000385c8000c80006203364,
    0x1c2e40006a00031019b380000000000000000385c8000d00006203366,
    0x1c2e40006e00031019b480000000000000000385c8000d80006203368,
    0x1c2e40007200031019b580000000000000000385c8000e0000620336a,
    0x1c2e40006200032019b680000000000000000385c8000c0000640336c,
    0x1c2e40006600032019b780000000000000000385c8000c8000640336e,
    0x184000e000068019b880000000000000000385c8000d00006403370,
    0xea00061019b9800000000000000000000000184000c803372,
    0xec0006f019ba800000000000000000039000184000c403374,
    0xda00064019bb80000000000000000000000018c000e003376,
    0xcc000da00064019bc8000000000000000000190001b4000c803378,
    0xc42005e73019bd8000000000000000000000001d4000d20337a,
    0xd6c605927019be8000000000000000000000152300cc5a0337c,
    0x3c9f013c680be1e0682a019bf80000000000000000000001b2ec0cc1c0337e,
    0xc20006e019c0800000000000000000000000184000e003380,
    0xc20006d019c18000000000000000000000001840077803382,
    0xc40006b019c2800000000000000000000000184000d603384,
    0xc400067019c3800000000000000000000000188000da03386,
    0x36000184000c60006b019c4800000000000000000036000184000c603388,
    0xcc0006e019c5800000000000000000000000198000e00338a,
    0xce003bc019c6800000000000000000000000198007780338c,
    0xce0006b019c780000000000000000000000019c000da0338e,
    0x1e8000d00006b019c88000000000000000000000001e8000d003390,
    0x1e8000d000067019c980000000000000000003d0001a0000da03392,
    0xd8003bc019ca80000000000000000003d0001a0000e803394,
    0xd800064019cb8000000000000000000000001b0000da03396,
    0xda00066019cc8000000000000000000000001b0000d603398,
    0xda003bc019cd8000000000000000000000001b4000dc0339a,
    0xda00063019ce8000000000000000000000001b4000da0339c,
    0xc8000da0006d019cf8000000000000000000000001b4000d60339e,
    0x640006d019d08000000000000000000190001b4000c6033a0,
    0xcc000da0006d019d18000000000000000000190001b4000d6033a2,
    0x660006d019d28000000000000000000198001b4000c6033a4,
    0x1cc0442a0006d019d38000000000000000000198001b4000d6033a6,
    0xc200070019d4800000000000003200039808854000da033a8,
    0x184000e00006d019d58000000000000000000308001c0000d6033aa,
    0x190000c200072019d68000000000000000000308001c0000ce033ac,
    0x64000730110a800190000c200072019d7800000000e60221500032000184000e4033ae,
    0xe60006e019d88000000000000000000000001cc000e0033b0,
    0xe60006d019d98000000000000000000000001cc00778033b2,
    0xec0006e019da8000000000000000000000001d8000e0033b4,
    0xec0006d019db8000000000000000000000001d800778033b6,
    0xec0006d019dc8000000000000000000000001d8000d6033b8,
    0xee0006e019dd8000000000000000000000001dc000e0033ba,
    0xee0006d019de8000000000000000000000001dc00778033bc,
    0xee0006d019df8000000000000000000000001dc000d6033be,
    0x7920006d019e0800000000000000000000000f24000d6033c0,
    0xc600063019e20000000000000000000000001c4000c4033c3,
    0x338001ac0442a00063019e3000000000000000000000000190000c6033c5,
    0xf200067019e4800000000000000000000000188000c8033c8,
    0xe000068019e5800000000000000000000000184000d0033ca,
    0xd60006b019e68000000000000000000000001b8000d2033cc,
    0xe80006b019e78000000000000000000000001b4000d6033ce,
    0xdc0006c019e88000000000000000000000001b4000d8033d0,
    0xf00006c019e98000000000000000000338001bc000d8033d2,
    0x1b0000d20006d019ea800000000000000000000000188000da033d4,
    0xd000070019eb8000000000000000000360001bc000da033d6,
    0xe400070019ed0000000000000000000368001c0000e0033d9,
    0xec00073019ee0000000000000000000000001c8000e6033db,
    0x1b40442a00076019ef000000000000000000000000188000ee033dd,
    0xcbca00031019f0000000000000000000036808854000c2033df,
    0xcbca00033019f100000000000000000000001979400064033e1,
    0xcbca00035019f200000000000000000000001979400068033e3,
    0xcbca00037019f30000000000000000000000197940006c033e5,
    0xcbca00039019f400000000000000000000001979400070033e7,
    0x197940006200031019f50000000000000000032f28000c000062033e9,
    0x197940006600031019f60000000000000000032f28000c800062033eb,
    0x197940006a00031019f70000000000000000032f28000d000062033ed,
    0x197940006e00031019f80000000000000000032f28000d800062033ef,
    0x197940007200031019f90000000000000000032f28000e000062033f1,
    0x197940006200032019fa0000000000000000032f28000c000064033f3,
    0x197940006600032019fb0000000000000000032f28000c800064033f5,
    0x197940006a00032019fc0000000000000000032f28000d000064033f7,
    0x197940006e00032019fd0000000000000000032f28000d800064033f9,
    0x197940007200032019fe0000000000000000032f28000e000064033fb,
    0x197940006200033019ff0000000000000000032f28000c000066033fd,
    0xcc0006607d80000000000000000000036000184000ce033ff,
    0xd80006607d810000000000000000000000001a4000cc0fb01,
    0x1b0000cc0006607d82000000000000000000034800198000cc0fb03,
    0xe80007307d830000000000000000000000001d0000e60fb05,
    0xaca0057407d8a0000000000000000000000015d800ae80fb13,
    0xaec0057e07d8b0000000000000000000000015ac00ae80fb15,
    0xb68005d907d8e8000000000000000000000015b400ae80fb17,
    0xb82005e907d950000000000000000000000016dc00be40fb1f,
    0x170400b78005e907d9600000000000000000000000170800bd20fb2b,
    0xb6e005d007d970000000000000000002e10016f000bd20fb2d,
    0xb78005d007d980000000000000000000000016e000ba00fb2f,
    0xb78005d207d990000000000000000000000016f000ba20fb31,
    0xb78005d407d9a0000000000000000000000016f000ba60fb33,
    0xb78005d607d9b0000000000000000000000016f000baa0fb35,
    0xb78005d907d9c8000000000000000000000016f000bb00fb38,
    0xb78005db07d9d8000000000000000000000016f000bb40fb3a,
    0xb78005de07d9f0000000000000000000000016f000bb80fb3c,
    0xb78005e107da08000000000000000000000016f000bc00fb40,
    0xb78005e407da20000000000000000000000016f000bc60fb43,
    0xb78005e707da38000000000000000000000016f000bcc0fb46,
    0xb78005e907da48000000000000000000000016f000bd00fb48,
    0xb72005d507da58000000000000000000000016f000bd40fb4a,
    0xb7e005db07da68000000000000000000000016fc00ba20fb4c,
    0xbb8005d007da78000000000000000000000016fc00bc80fb4e,
    0xc4e0062607df50000000000000000000000019d000d8e0fbdd,
    0xdaa0062607df600000000000000000000000189c00c4c0fbeb,
    0xc900062607df7000000000000000000000001b5400c4c0fbed,
    0xd8e0062607df800000000000000000000000192000c4c0fbef,
    0xd8c0062607df9000000000000000000000001b1c00c4c0fbf1,
    0xd900062607dfa000000000000000000000001b1800c4c0fbf3,
    0xda00062607dfb000000000000000000000001b2000c4c0fbf5,
    0xda00062607dfc000000000000000000000001b4000c4c0fbf7,
    0xc920062607dfd00000000000000000000000192400c4c0fbf9,
    0xc580062607e0000000000000000000000000192400c4c0fbfb,
    0xc8a0062607e010000000000000000000000018b400c4c0fc01,
    0xc940062607e0200000000000000000000000192400c4c0fc03,
    0xc5a0062807e030000000000000000000000018b000c500fc05,
    0xc8a0062807e040000000000000000000000018b800c500fc07,
    0xc940062807e0500000000000000000000000192400c500fc09,
    0xc5a0062a07e060000000000000000000000018b000c540fc0b,
    0xc8a0062a07e070000000000000000000000018b800c540fc0d,
    0xc940062a07e0800000000000000000000000192400c540fc0f,
    0xc8a0062b07e090000000000000000000000018b000c560fc11,
    0xc940062b07e0a00000000000000000000000192400c560fc13,
    0xc8a0062c07e0b0000000000000000000000018b400c580fc15,
    0xc8a0062d07e0c0000000000000000000000018b000c5a0fc17,
    0xc5a0062e07e0d0000000000000000000000018b000c5c0fc19,
    0xc580063307e0e00000000000000000000000191400c5c0fc1b,
    0xc5c0063307e0f0000000000000000000000018b400c660fc1d,
    0xc5a0063507e1000000000000000000000000191400c660fc1f,
    0xc580063607e1100000000000000000000000191400c6a0fc21,
    0xc5c0063607e120000000000000000000000018b400c6c0fc23,
    0xc5a0063707e1300000000000000000000000191400c6c0fc25,
    0xc8a0063807e1400000000000000000000000191400c6e0fc27,
    0xc8a0063907e150000000000000000000000018b000c720fc29,
    0xc8a0063a07e160000000000000000000000018b000c740fc2b,
    0xc5a0064107e170000000000000000000000018b000c820fc2d,
    0xc8a0064107e180000000000000000000000018b800c820fc2f,
    0xc940064107e1900000000000000000000000192400c820fc31,
    0xc8a0064207e1a0000000000000000000000018b400c840fc33,
    0xc940064207e1b00000000000000000000000192400c840fc35,
    0xc580064307e1c00000000000000000000000189c00c860fc37,
    0xc5c0064307e1d0000000000000000000000018b400c860fc39,
    0xc8a0064307e1e00000000000000000000000191000c860fc3b,
    0xc940064307e1f00000000000000000000000192400c860fc3d,
    0xc5a0064407e200000000000000000000000018b000c880fc3f,
    0xc8a0064407e210000000000000000000000018b800c880fc41,
    0xc940064407e2200000000000000000000000192400c880fc43,
    0xc5a0064507e230000000000000000000000018b000c8a0fc45,
    0xc8a0064507e240000000000000000000000018b800c8a0fc47,
    0xc940064507e2500000000000000000000000192400c8a0fc49,
    0xc5a0064607e260000000000000000000000018b000c8c0fc4b,
    0xc8a0064607e270000000000000000000000018b800c8c0fc4d,
    0xc940064607e2800000000000000000000000192400c8c0fc4f,
    0xc8a0064707e290000000000000000000000018b000c8e0fc51,
    0xc940064707e2a00000000000000000000000192400c8e0fc53,
    0xc5a0064a07e2b0000000000000000000000018b000c940fc55,
    0xc8a0064a07e2c0000000000000000000000018b800c940fc57,
    0xc940064a07e2d00000000000000000000000192400c940fc59,
    0xce00063107e2e0000000000000000000000019c000c600fc5b,
    0xc620062607e320000000000000000000000019c000c920fc5d,
    0xc8a0062607e330000000000000000000000018c800c4c0fc65,
    0xc920062607e3400000000000000000000000191800c4c0fc67,
    0xc620062807e3500000000000000000000000192800c4c0fc69,
    0xc8a0062807e360000000000000000000000018c800c500fc6b,
    0xc920062807e3700000000000000000000000191800c500fc6d,
    0xc620062a07e3800000000000000000000000192800c500fc6f,
    0xc8a0062a07e390000000000000000000000018c800c540fc71,
    0xc920062a07e3a00000000000000000000000191800c540fc73,
    0xc620062b07e3b00000000000000000000000192800c540fc75,
    0xc8a0062b07e3c0000000000000000000000018c800c560fc77,
    0xc920062b07e3d00000000000000000000000191800c560fc79,
    0xc920064107e3e00000000000000000000000192800c560fc7b,
    0xc920064207e3f00000000000000000000000192800c820fc7d,
    0xc4e0064307e4000000000000000000000000192800c840fc7f,
    0xc8a0064307e4100000000000000000000000191000c860fc81,
    0xc940064307e4200000000000000000000000192400c860fc83,
    0xc920064407e4300000000000000000000000191400c880fc85,
    0xc4e0064507e4400000000000000000000000192800c880fc87,
    0xc620064607e4500000000000000000000000191400c8a0fc89,
    0xc8a0064607e460000000000000000000000018c800c8c0fc8b,
    0xc920064607e4700000000000000000000000191800c8c0fc8d,
    0xce00064907e4800000000000000000000000192800c8c0fc8f,
    0xc640064a07e490000000000000000000000018c400c940fc91,
    0xc8c0064a07e4a00000000000000000000000191400c940fc93,
    0xc940064a07e4b00000000000000000000000192400c940fc95,
    0xc5a0062607e4c0000000000000000000000018b000c4c0fc97,
    0xc8a0062607e4d0000000000000000000000018b800c4c0fc99,
    0xc580062807e4e00000000000000000000000191c00c4c0fc9b,
    0xc5c0062807e4f0000000000000000000000018b400c500fc9d,
    0xc8e0062807e5000000000000000000000000191400c500fc9f,
    0xc5a0062a07e510000000000000000000000018b000c540fca1,
    0xc8a0062a07e520000000000000000000000018b800c540fca3,
    0xc8a0062b07e5300000000000000000000000191c00c540fca5,
    0xc8a0062c07e540000000000000000000000018b400c580fca7,
    0xc8a0062d07e550000000000000000000000018b000c5a0fca9,
    0xc8a0062e07e560000000000000000000000018b000c5c0fcab,
    0xc5a0063307e570000000000000000000000018b000c660fcad,
    0xc8a0063307e580000000000000000000000018b800c660fcaf,
    0xc5c0063507e590000000000000000000000018b400c6a0fcb1,
    0xc580063607e5a00000000000000000000000191400c6a0fcb3,
    0xc5c0063607e5b0000000000000000000000018b400c6c0fcb5,
    0xc5a0063707e5c00000000000000000000000191400c6c0fcb7,
    0xc580063907e5d00000000000000000000000191400c700fcb9,
    0xc580063a07e5e00000000000000000000000191400c720fcbb,
    0xc580064107e5f00000000000000000000000191400c740fcbd,
    0xc5c0064107e600000000000000000000000018b400c820fcbf,
    0xc5a0064207e6100000000000000000000000191400c820fcc1,
    0xc580064307e6200000000000000000000000191400c840fcc3,
    0xc5c0064307e630000000000000000000000018b400c860fcc5,
    0xc8a0064307e6400000000000000000000000191000c860fcc7,
    0xc5a0064407e650000000000000000000000018b000c880fcc9,
    0xc8a0064407e660000000000000000000000018b800c880fccb,
    0xc580064507e6700000000000000000000000191c00c880fccd,
    0xc5c0064507e680000000000000000000000018b400c8a0fccf,
    0xc580064607e6900000000000000000000000191400c8a0fcd1,
    0xc5c0064607e6a0000000000000000000000018b400c8c0fcd3,
    0xc8e0064607e6b00000000000000000000000191400c8c0fcd5,
    0xc8a0064707e6c0000000000000000000000018b000c8e0fcd7,
    0xc580064a07e6d0000000000000000000000019c000c8e0fcd9,
    0xc5c0064a07e6e0000000000000000000000018b400c940fcdb,
    0xc8e0064a07e6f00000000000000000000000191400c940fcdd,
    0xc8e0062607e7000000000000000000000000191400c4c0fcdf,
    0xc8e0062807e7100000000000000000000000191400c500fce1,
    0xc8e0062a07e7200000000000000000000000191400c540fce3,
    0xc8e0062b07e7300000000000000000000000191400c560fce5,
    0xc8e0063307e7400000000000000000000000191400c660fce7,
    0xc8e0063407e7500000000000000000000000191400c680fce9,
    0xc8a0064307e7600000000000000000000000191000c860fceb,
    0xc8a0064607e7700000000000000000000000191400c880fced,
    0xc8a0064a07e7800000000000000000000000191c00c8c0fcef,
    0x194400c9c0064007e7900000000000000000000000191c00c940fcf1,
    0x194400ca00064007e7a00000000000000000032880193c00c800fcf3,
    0xc940063707e7b00000000000000000000000192400c6e0fcf5,
    0xc940063907e7c00000000000000000000000192400c720fcf7,
    0xc940063a07e7d00000000000000000000000192400c740fcf9,
    0xc940063307e7e00000000000000000000000192400c660fcfb,
    0xc940063407e7f00000000000000000000000192400c680fcfd,
    0xc940062d07e8000000000000000000000000192400c5a0fcff,
    0xc940062c07e8100000000000000000000000192400c580fd01,
    0xc940062e07e8200000000000000000000000192400c5c0fd03,
    0xc940063507e8300000000000000000000000192400c6a0fd05,
    0xc940063607e8400000000000000000000000192400c6c0fd07,
    0xc5a0063407e850000000000000000000000018b000c680fd09,
    0xc8a0063407e860000000000000000000000018b800c680fd0b,
    0xc620063307e870000000000000000000000018c400c680fd0d,
    0xc620063607e880000000000000000000000018c400c6a0fd0f,
    0xc940063707e8900000000000000000000000192400c6e0fd11,
    0xc940063907e8a00000000000000000000000192400c720fd13,
    0xc940063a07e8b00000000000000000000000192400c740fd15,
    0xc940063307e8c00000000000000000000000192400c660fd17,
    0xc940063407e8d00000000000000000000000192400c680fd19,
    0xc940062d07e8e00000000000000000000000192400c5a0fd1b,
    0xc940062c07e8f00000000000000000000000192400c580fd1d,
    0xc940062e07e9000000000000000000000000192400c5c0fd1f,
    0xc940063507e9100000000000000000000000192400c6a0fd21,
    0xc940063607e9200000000000000000000000192400c6c0fd23,
    0xc5a0063407e930000000000000000000000018b000c680fd25,
    0xc8a0063407e940000000000000000000000018b800c680fd27,
    0xc620063307e950000000000000000000000018c400c680fd29,
    0xc620063607e960000000000000000000000018c400c6a0fd2b,
    0xc5a0063407e970000000000000000000000018b000c680fd2d,
    0xc8a0063407e980000000000000000000000018b800c680fd2f,
    0xc8e0063407e9900000000000000000000000191c00c660fd31,
    0xc580063307e9a00000000000000000000000191400c6e0fd33,
    0xc5c0063307e9b0000000000000000000000018b400c660fd35,
    0xc5a0063407e9c0000000000000000000000018b000c680fd37,
    0xc8a0063707e9d0000000000000000000000018b800c680fd39,
    0xc960062707e9e00000000000000000000000191400c700fd3b,
    0x191400c580062a07ea800000000000000000000000192c00c4e0fd3d,
    0x18b000c5a0062a07ea90000000000000000003160018b400c540fd51,
    0x191400c5c0062a07eaa0000000000000000003228018b400c540fd53,
    0x18b400c8a0062a07eab00000000000000000031600191400c540fd55,
    0x18b400c8a0062c07eac00000000000000000031700191400c540fd57,
    0x192800c8a0062d07ead00000000000000000031680191400c580fd59,
    0x18b000c5a0063307eae00000000000000000032480191400c5a0fd5b,
    0x192400c580063307eaf0000000000000000003168018b000c660fd5d,
    0x18b400c8a0063307eb000000000000000000031680191400c660fd5f,
    0x191400c8a0063307eb100000000000000000031600191400c660fd61,
    0x18b400c5a0063507eb200000000000000000032280191400c660fd63,
    0x191400c8a0063507eb30000000000000000003168018b400c6a0fd65,
    0x191400c5a0063407eb40000000000000000003228018b400c680fd67,
    0x18b800c8a0063407eb50000000000000000003250018b000c680fd69,
    0x191400c8a0063407eb600000000000000000031700191400c680fd6b,
    0x192400c5a0063607eb700000000000000000032280191400c680fd6d,
    0x191400c5c0063607eb80000000000000000003228018b800c6c0fd6f,
    0x18b400c8a0063707eb900000000000000000031680191400c6e0fd71,
    0x192800c8a0063707eba00000000000000000032280191400c6e0fd73,
    0x191400c8a0063907ebb0000000000000000003228018b000c720fd75,
    0x192400c8a0063907ebc00000000000000000032280191400c720fd77,
    0x192800c8a0063a07ebd00000000000000000032280191400c740fd79,
    0x191400c5c0064107ebe00000000000000000032480191400c740fd7b,
    0x18b400c8a0064207ebf0000000000000000003228018b800c820fd7d,
    0x191400c5a0064407ec000000000000000000032280191400c840fd7f,
    0x192400c5a0064407ec10000000000000000003250018b400c880fd81,
    0x18b000c580064407ec20000000000000000003160018b000c880fd83,
    0x191400c5c0064407ec30000000000000000003228018b800c880fd85,
    0x18b400c8a0064407ec400000000000000000031680191400c880fd87,
    0x191400c5a0064507ec50000000000000000003160018b400c8a0fd89,
    0x18b400c580064507ec60000000000000000003250018b400c8a0fd8b,
    0x18b000c5c0064507ec70000000000000000003228018b000c8a0fd8d,
    0x18b800c580064507ec90000000000000000003228018b800c8a0fd8f,
    0x191400c8a0064707eca00000000000000000031600191400c8e0fd93,
    0x192400c5a0064607ecb0000000000000000003228018b400c8c0fd95,
    0x191400c580064607ecc0000000000000000003228018b000c8c0fd97,
    0x192800c8a0064607ecd0000000000000000003248018b000c8c0fd99,
    0x191400c8a0064a07ece00000000000000000032480191400c8c0fd9b,
    0x192800c5c0062807ecf00000000000000000032280191400c940fd9d,
    0x192400c580062a07ed00000000000000000003250018b000c540fd9f,
    0x192400c5c0062a07ed10000000000000000003250018b800c540fda1,
    0x192400c8a0062a07ed200000000000000000032500191400c540fda3,
    0x192400c5a0062c07ed300000000000000000032500191400c580fda5,
    0x192400c5c0063307ed400000000000000000032480191400c580fda7,
    0x192800c5a0063407ed50000000000000000003250018b400c6a0fda9,
    0x192800c580064407ed60000000000000000003250018b400c6c0fdab,
    0x192800c5a0064a07ed700000000000000000032500191400c880fdad,
    0x192800c8a0064a07ed80000000000000000003250018b000c940fdaf,
    0x192800c8a0064207ed900000000000000000032500191400c8a0fdb1,
    0x18b400c8a0064207eda0000000000000000003250018b400c8c0fdb3,
    0x192800c8a0063907edb0000000000000000003228018b400c880fdb5,
    0x18b400c580064607edc00000000000000000032500191400c860fdb7,
    0x191400c580064407edd0000000000000000003250018b800c8a0fdb9,
    0x191400c580064407ede00000000000000000032280191400c860fdbb,
    0x192800c5a0062c07edf0000000000000000003168018b000c8c0fdbd,
    0x192800c580064507ee00000000000000000003250018b000c5a0fdbf,
    0x192800c5a0062807ee100000000000000000032500191400c820fdc1,
    0x191400c580063907ee200000000000000000032280191400c860fdc3,
    0x192800c5c0063307ee300000000000000000032280191400c6a0fdc5,
    0x1b4800c880063507ef80000000000000000003250018b000c8c0fdc7,
    0x32380191000c880062707ef900000000000000000036900191000c840fdf1,
    0x31780191400c5a0064507efa00000000000006310031400190c00c4e0fdf3,
    0x32200192000c660063107efb00000000000006450031c80191000c6a0fdf5,
    0x32280191000c660064807efc00000000000006470032500191000c720fdf7,
    0x32200189c00d980063107efe00000000000000000032480191000c6a0fdf9,
    0xc9c0064007f3b80000000000000000000000192c00c800fe71,
    0xca00064007f3d80000000000000000000000193c00c800fe79,
    0xca40064007f3f80000000000000000000000194400c800fe7d,
    0xc440064407f7b00000000000000000000000188800c880fef5,
    0xc460064407f7c00000000000000000000000188c00c880fef7,
    0xc4a0064407f7d00000000000000000000000189400c880fef9,
    0xc4e0064407f7e00000000000000000000000189c00c880fefb,
    0x3a2ca1d1580e8af8000000000000000000000745943a2ae1d15e,
    0x745bc3a2ca1d1580e8b080000000000000000e8b70745943a2b01d160,
    0x745c43a2ca1d1580e8b180000000000000000e8b80745943a2b01d162,
    0x3a2ca1d1b90e8dd80000000000000000e8b90745943a2b01d164,
    0x745b83a2ca1d1b90e8de8000000000000000000000745943a3741d1bc,
    0x745bc3a2ca1d1b90e8df80000000000000000e8b70745943a3741d1be,
    0xc054000e6030140f89500000000000000000e8b78745943a3741d1c0,
    0xf4000770f897000000000000000000000000190000c61f12d,
    0xec0006d0f8a58000000000000000000000001d8000d01f14a,
    0xe6000730f8a6800000000000000000000000190000e61f14c,
    0xc6000770f8a780000000000000000003b0001c0000e01f14e,
    0xc80006d0f8b580000000000000000000000018c000da1f16a,
    0xd4000640f8c80000000000000000000000001c8000da1f16c,
    0x6166030b30f90080000000000000000000000c12c060f61f200,
    0xc05409c12030140f92080000000000000000180a819cb0060281f240,
    0xc0540b712030140f92180000000000000000180a813a30060281f242,
    0xc0540c4a6030140f92280000000000000000180a81c2e4060281f244,
    0xc0540a5ba030140f92380000000000000000180a81db5c060281f246, 0x180a81955c060281f248]

def dropped : Packed where
  keyBits := 21
  width := 42
  perRow := 8
  size := 8
  rows := #[
    0x700f7b804001ff400ffa007f0783f800062c80316400c0780602c02f6a017b4008b000457c0069e0034f]

/-- Ranges of characters that no host name may hold, or whose mapping holds a character it may
not. -/
def refused : Packed where
  keyBits := 21
  width := 42
  perRow := 8
  size := 61
  rows := #[
    0x1c2800e10006fc0037e001bd000de8005ba002d80005c0002e000168000b4000578002bc00150000a8,
    0x10130080900402e0201700fff007ff403fde01fed00fef807f7403f9e01fcd00fe0807efc03f7a01fbd,
    0x10808084000411c0208c01045008228040fc0207c0103d0081e804092020470101f0080f8040780203c,
    0x19e380cf1c06784033c20192180c800061380309b017fd80bfc0054ec02a740125a8091d00420c02105,
    0x7f1803f8c01fc320fe1907f0b03f8481fc200fe1007efd83f7e81f8c60fc5e07d9483eca4067b0033d8,
    0x7f3b03f9d01fce40fe7207f3803f9901fcc40fe5f07f2e03f9641fcae0fe5207f2803f91c1fc700fe33,
    0x7fa003fcec1fe400ff1a07f8783fc3c1fe180ff0107f3f03f9f81fcf80fe7c07f3d03f9e81fcf00fe78,
    0x3e2521f1100f88507c4001fffa0fffc07ff183ff8c1febc0ff5b]

end FieldRules.Unicode.Tables
